import RolloutTree.Proofs.Watch.Stopping

/-!
# Runs that their output cuts short

An output may fail when a text is written or when it is flushed. Until then the run does not know
of it: it is the run on an output that never fails. At the failure it stops, so that what it leaves
behind is the beginning of the other run, up to the text that could not be shown. The two runs are
followed side by side, refresh by refresh: a refresh that shows something in the one shows it in the
other, or fails to.

## Main definitions

* `Output.failure?`: why the output fails at the text of a number, if it does.
* `Output.left`: what happens of a write and its flush.
* `CutShort`: a part of a run on a failing output, and the same part on one that never fails.

## Main results

* `Setup.cutShort_step`, `Setup.step_eq_of_failure?_eq_none`: one refresh on both outputs.
* `Setup.runFrom_eq_of_failure?_eq_none`, `Setup.runFrom_of_failure?`: whole runs on both outputs.
* `Setup.failing_output_truncates`: the run that is cut short at a write or a flush.
-/

namespace RolloutTree.Watch

/-- Why the output fails at the text of a number, when it is written or else when it is flushed. -/
def Output.failure? (out : Output) (number : Nat) : Option String :=
  (out.failWrite number).or (out.failFlush number)

/-- What happens of a write and its flush: if the write fails nothing does, and a flush that fails
has been tried. -/
def Output.left (out : Output) (number time : Nat) (text : String) : List Event :=
  if (out.failWrite number).isSome then [] else [.write time text, .flush time]

theorem Output.failure?_of_write {out : Output} {number : Nat} {reason : String}
    (h : out.failWrite number = some reason) : out.failure? number = some reason := by
  rw [failure?, h, Option.some_or]

theorem Output.failure?_of_flush {out : Output} {number : Nat} {reason : String}
    (hw : out.failWrite number = none) (hf : out.failFlush number = some reason) :
    out.failure? number = some reason := by
  rw [failure?, hw, hf, Option.none_or]

theorem Output.failure?_eq_none_iff {out : Output} {number : Nat} :
    out.failure? number = none ↔ out.failWrite number = none ∧ out.failFlush number = none :=
  Option.or_eq_none_iff

@[simp] theorem Output.filterMap_fetch?_left (out : Output) (number time : Nat) (text : String) :
    (out.left number time text).filterMap Event.fetch? = [] := by
  unfold left
  split <;> rfl

/-- How a run ends that does not go on after a refresh, if it does. -/
def Next.ending? : Next → Option (Ending × Nat)
  | stop ending time => some (ending, time)
  | _ => none

/-- The first part of a run is the second one on an output that fails at the text of the number: if
a text is shown, the part ends there, and otherwise there is no difference. -/
inductive CutShort (out : Output) (number : Nat) (reason : String) :
    List Event × Next → List Event × Next → Prop
  | unnoticed (events : List Event) (next : Next) (hw : events.filterMap Event.write? = []) :
      CutShort out number reason (events, next) (events, next)
  | noticed (before after : List Event) (time : Nat) (text : String) (next : Next)
      (hw : before.filterMap Event.write? = []) (hf : before.filterMap Event.flush? = []) :
      CutShort out number reason
        (before ++ out.left number time text, .stop (.outputFailed reason) time)
        (before ++ .write time text :: .flush time :: after, next)

/-- What comes before both parts and shows nothing makes no difference. -/
theorem CutShort.cons {out : Output} {number : Nat} {reason : String} {e : Event}
    {part whole : List Event × Next} (h : CutShort out number reason part whole)
    (hw : e.write? = none) (hf : e.flush? = none) :
    CutShort out number reason (e :: part.1, part.2) (e :: whole.1, whole.2) := by
  cases h with
  | unnoticed events next hnone =>
    exact .unnoticed _ _ (by rw [List.filterMap_cons_none hw, hnone])
  | noticed before after time text next hwrites hflushes =>
    exact .noticed (e :: before) after time text next (by rw [List.filterMap_cons_none hw, hwrites])
      (by rw [List.filterMap_cons_none hf, hflushes])

namespace Setup

variable {s : Setup} {out : Output} {reason : String}

/-! ### One refresh -/

theorem drawAndPause_eq_of_failure?_eq_none (state : State)
    (h : out.failure? (state.writes + 1) = none) (time : Nat) (text : String) :
    s.drawAndPause out state time text = s.drawAndPause {} state time text := by
  obtain ⟨hw, hf⟩ := Output.failure?_eq_none_iff.mp h
  simp only [drawAndPause, draw, hw, hf]

/-- A text that the output fails to show is where the run stops. -/
theorem cutShort_drawAndPause (state : State) (h : out.failure? (state.writes + 1) = some reason)
    (time : Nat) (text : String) : CutShort out (state.writes + 1) reason
      (s.drawAndPause out state time text) (s.drawAndPause {} state time text) := by
  have hfailed : s.drawAndPause out state time text =
      (out.left (state.writes + 1) time (s.shown text), .stop (.outputFailed reason) time) := by
    unfold Output.failure? at h
    unfold drawAndPause draw Output.left
    cases hw : out.failWrite (state.writes + 1) with
    | some other =>
      rw [hw, Option.some_or, Option.some_inj] at h
      simp [h]
    | none =>
      rw [hw, Option.none_or] at h
      simp [h]
  have hshown : ∃ after next, s.drawAndPause {} state time text =
      (.write time (s.shown text) :: .flush time :: after, next) := by
    unfold drawAndPause draw
    cases s.isWatching <;> exact ⟨_, _, rfl⟩
  obtain ⟨after, next, hwhole⟩ := hshown
  rw [hfailed, hwhole]
  exact .noticed [] after time (s.shown text) next rfl rfl

theorem cutShort_await {number : Nat} {cancelled : Moment} {now : Nat} {awaited : Moment}
    {part whole : Nat → List Event × Next} (h : ∀ time, CutShort out number reason (part time)
      (whole time)) : CutShort out number reason (s.await cancelled now awaited part)
      (s.await cancelled now awaited whole) := by
  unfold await
  split
  · exact .unnoticed _ _ rfl
  · exact .unnoticed _ _ rfl
  · exact h _
  · exact .unnoticed _ _ rfl

/-- If the output fails at the next text, what follows from an outcome is cut short there. -/
theorem cutShort_settle (state : State) (h : out.failure? (state.writes + 1) = some reason)
    (time : Nat) (outcome : Outcome) : CutShort out (state.writes + 1) reason
      (s.settle out state time outcome) (s.settle {} state time outcome) := by
  cases outcome with
  | tree node =>
    exact cutShort_drawAndPause { state with frame := Frame.text s.painter node } h time _
  | failed failure =>
    simp only [settle]
    by_cases hends : (decide (failure.severity = .fatal) || !s.isWatching) = true
    · rw [if_pos hends, if_pos hends]
      exact .unnoticed _ _ rfl
    · rw [if_neg hends, if_neg hends]
      exact cutShort_drawAndPause state h time _
  | nothing => exact .unnoticed _ _ rfl

/-- If the output fails at the next text, a refresh is cut short there. -/
theorem cutShort_step {state : State} (h : out.failure? (state.writes + 1) = some reason)
    (a : Attempt) :
    CutShort out (state.writes + 1) reason (s.step out a state) (s.step {} a state) := by
  refine cutShort_await fun start => CutShort.cons (cutShort_await fun now => ?_) rfl rfl
  unfold proceed
  by_cases hcancels : a.cancellation start = some now
  · rw [if_pos hcancels, if_pos hcancels]
    have hlast := cutShort_settle (s := s) { state with cancelled := some now } h now a.outcome
    by_cases hfinishes : a.finish start = some now
    · rw [if_pos hfinishes, if_pos hfinishes]
      exact hlast.cons rfl rfl
    · rw [if_neg hfinishes, if_neg hfinishes]
      exact .unnoticed _ _ rfl
  · rw [if_neg hcancels, if_neg hcancels]
    exact cutShort_settle state h now a.outcome

theorem settle_eq_of_failure?_eq_none (state : State)
    (h : out.failure? (state.writes + 1) = none) (time : Nat) (outcome : Outcome) :
    s.settle out state time outcome = s.settle {} state time outcome := by
  cases outcome with
  | tree node =>
    exact drawAndPause_eq_of_failure?_eq_none { state with frame := Frame.text s.painter node } h
      time _
  | failed failure => simp only [settle, drawAndPause_eq_of_failure?_eq_none state h]
  | nothing => rfl

/-- If the output does not fail at the next text, a refresh is the one on an output that never
fails. -/
theorem step_eq_of_failure?_eq_none {state : State} (h : out.failure? (state.writes + 1) = none)
    (a : Attempt) : s.step out a state = s.step {} a state := by
  have hlast (now : Nat) := settle_eq_of_failure?_eq_none (s := s)
    { state with cancelled := some now } h now a.outcome
  have hproceed (start : Nat) : s.proceed out a state start = s.proceed {} a state start := by
    funext now
    simp only [proceed, hlast, settle_eq_of_failure?_eq_none state h]
  simp only [step, hproceed]

/-- A refresh that shows nothing does not depend on the output, nor does one that shows a text at
which the output does not fail. -/
theorem step_eq_of_writes {a : Attempt} {state : State}
    (h : (s.step {} a state).1.filterMap Event.write? ≠ [] →
      out.failure? (state.writes + 1) = none) : s.step out a state = s.step {} a state := by
  cases hfail : out.failure? (state.writes + 1) with
  | none => exact step_eq_of_failure?_eq_none hfail a
  | some reason =>
    have hcut := cutShort_step (s := s) hfail a
    generalize s.step out a state = part, s.step {} a state = whole at h hcut
    cases hcut with
    | unnoticed => rfl
    | noticed => exact absurd (h (by simp [Event.write?])) (by simp [hfail])

/-! ### Whole runs -/

theorem runFrom_of_last (attempts : List Attempt) {state : State} {events : List Event}
    {next : Next} (h : s.step out (attempts.headD .abandon) state = (events, next))
    (hlast : ∀ later, next ≠ .go later) :
    s.runFrom out attempts state = ⟨events, next.ending?⟩ := by
  cases next with
  | go later => exact absurd rfl (hlast later)
  | stop ending time => exact s.runFrom_of_stop out attempts h
  | endless => exact s.runFrom_of_endless out attempts h

/-- A run is its first refresh alone, or it meets more fetches and goes on from there. -/
theorem step_cases (s : Setup) (out : Output) (attempts : List Attempt) (state : State) :
    (∃ events next, s.step out (attempts.headD .abandon) state = (events, next) ∧
      ∀ later, next ≠ .go later) ∨
    ∃ a rest events later, attempts = a :: rest ∧ s.step out a state = (events, .go later) := by
  rcases hstep : s.step out (attempts.headD .abandon) state with
    ⟨events, later | ⟨ending, time⟩ | _⟩
  · cases attempts with
    | nil =>
      have hsteps := s.steps_step out .abandon state
      rw [List.headD_nil] at hstep
      rw [hstep] at hsteps
      exact absurd hsteps (s.not_steps_abandon_go out)
    | cons a rest => exact .inr ⟨a, rest, events, later, rfl, hstep⟩
  · exact .inl ⟨events, _, rfl, nofun⟩
  · exact .inl ⟨events, _, rfl, nofun⟩

theorem Settles.length_writes_le {state : State} {time : Nat} {outcome : Outcome}
    {events : List Event} {next : Next} (h : s.Settles out state time outcome events next) :
    (events.filterMap Event.write?).length ≤ 1 := by
  rcases h.events_eq with rfl | ⟨text, rfl⟩
  · exact Nat.zero_le 1
  · exact Nat.le_refl 1

/-- A refresh writes at most once. -/
theorem Steps.length_writes_le {a : Attempt} {state : State} {events : List Event} {next : Next}
    (h : s.Steps out a state events next) : (events.filterMap Event.write?).length ≤ 1 := by
  cases h with
  | refused => exact Nat.zero_le 1
  | interrupted => exact Nat.zero_le 1
  | hangs => exact Nat.zero_le 1
  | abandons => exact Nat.zero_le 1
  | finishes _ _ _ _ _ _ _ hn => exact hn.length_writes_le
  | finishesLast _ _ _ _ _ _ _ hn => exact hn.length_writes_le

/-- What a refresh writes that the run goes on from. -/
theorem writes_of_go {a : Attempt} (rest : List Attempt) {state later : State}
    {events : List Event} (h : s.step out a state = (events, .go later)) :
    ∃ w, events.filterMap Event.write? = [w] ∧ events.filterMap Event.flush? = [w.1] ∧
      later.writes = state.writes + 1 ∧
      (s.runFrom out (a :: rest) state).writes = w :: (s.runFrom out rest later).writes := by
  have hsteps := s.steps_step out a state
  rw [h] at hsteps
  obtain ⟨time, text, frame, -, -, -, -, -, -, rfl, rfl⟩ := hsteps.of_go
  rw [s.runFrom_of_go out h]
  exact ⟨(time, s.shown text), rfl, rfl, rfl, rfl⟩

/-- A run whose texts are all shown is the one on an output that never fails. -/
theorem runFrom_eq_of_failure?_eq_none : (attempts : List Attempt) → (state : State) →
    (∀ k < (s.runFrom {} attempts state).writes.length,
      out.failure? (state.writes + k + 1) = none) →
    s.runFrom out attempts state = s.runFrom {} attempts state
  | attempts, state, h => by
    rcases s.step_cases {} attempts state with
      ⟨events, next, hstep, hlast⟩ | ⟨a, rest, events, later, rfl, hstep⟩
    · rw [runFrom_of_last attempts hstep hlast] at h ⊢
      refine runFrom_of_last attempts ?_ hlast
      rw [← hstep]
      refine step_eq_of_writes fun hne => ?_
      rw [hstep] at hne
      exact h 0 (List.length_pos_iff.mpr hne)
    · obtain ⟨w, -, -, hnumber, hwrites⟩ := writes_of_go rest hstep
      rw [hwrites, List.length_cons] at h
      have hsame := step_eq_of_failure?_eq_none (s := s) (h 0 (Nat.zero_lt_succ _)) a
      have hrest : s.runFrom out rest later = s.runFrom {} rest later := by
        refine runFrom_eq_of_failure?_eq_none rest later fun k hk => ?_
        have hk' : later.writes + k + 1 = state.writes + (k + 1) + 1 := by omega
        rw [hk']
        exact h (k + 1) (Nat.succ_lt_succ hk)
      rw [s.runFrom_of_go out (hsame.trans hstep), s.runFrom_of_go {} hstep, hrest]
  termination_by attempts => attempts.length

theorem exists_events_append (s : Setup) (out : Output) (attempts : List Attempt) (state : State) :
    ∃ more, (s.runFrom out attempts state).events =
      (s.step out (attempts.headD .abandon) state).1 ++ more := by
  rcases s.step_cases out attempts state with
    ⟨events, next, hstep, hlast⟩ | ⟨a, rest, events, later, rfl, hstep⟩
  · exact ⟨[], by rw [runFrom_of_last attempts hstep hlast, hstep, List.append_nil]⟩
  · exact ⟨_, by rw [s.runFrom_of_go out hstep, List.headD_cons, hstep]⟩

/-- A run whose output fails at its first text ends there, and until then it is the one on an output
that never fails. -/
theorem runFrom_of_failure?_zero {attempts : List Attempt} {state : State}
    (hfail : out.failure? (state.writes + 1) = some reason) {time : Nat} {text : String}
    (hfirst : (s.runFrom {} attempts state).writes[0]? = some (time, text)) :
    ∃ before after,
      (s.runFrom {} attempts state).events = before ++ .write time text :: .flush time :: after ∧
      before.filterMap Event.write? = [] ∧ before.filterMap Event.flush? = [] ∧
      s.runFrom out attempts state =
        ⟨before ++ out.left (state.writes + 1) time text, some (.outputFailed reason, time)⟩ := by
  have hcut := cutShort_step (s := s) hfail (attempts.headD .abandon)
  obtain ⟨more, hevents⟩ := s.exists_events_append {} attempts state
  rcases hpart : s.step out (attempts.headD .abandon) state with ⟨partEvents, partNext⟩
  rcases hwhole : s.step {} (attempts.headD .abandon) state with ⟨events, next⟩
  rw [hpart, hwhole] at hcut
  rw [hwhole] at hevents
  cases hcut with
  | unnoticed _ _ hw =>
    -- a refresh that writes nothing is the last one of its run
    rcases s.step_cases {} attempts state with
      ⟨_, _, hstep, hlast⟩ | ⟨a, rest, _, later, rfl, hstep⟩
    · obtain ⟨rfl, rfl⟩ := Prod.mk.inj (hwhole.symm.trans hstep)
      rw [runFrom_of_last attempts hstep hlast, Run.writes, hw] at hfirst
      exact absurd hfirst (by simp)
    · obtain ⟨rfl, rfl⟩ := Prod.mk.inj (hwhole.symm.trans hstep)
      obtain ⟨w, hwrite, -⟩ := writes_of_go rest hstep
      exact absurd (hw.symm.trans hwrite) (by simp)
  | noticed before after time' text' _ hw hf =>
    have hwrite : (time', text') = (time, text) := by
      rw [Run.writes, hevents] at hfirst
      simpa [hw, Event.write?] using hfirst
    obtain ⟨rfl, rfl⟩ := Prod.mk.inj hwrite
    refine ⟨before, after ++ more, ?_, hw, hf, s.runFrom_of_stop out attempts hpart⟩
    simpa using hevents

/-- A run whose output fails at a text ends there, and until then it is the one on an output that
never fails. -/
theorem runFrom_of_failure? : (attempts : List Attempt) → (state : State) → (i : Nat) →
    (∀ k < i, out.failure? (state.writes + k + 1) = none) →
    out.failure? (state.writes + i + 1) = some reason → {time : Nat} → {text : String} →
    (s.runFrom {} attempts state).writes[i]? = some (time, text) →
    ∃ before after,
      (s.runFrom {} attempts state).events = before ++ .write time text :: .flush time :: after ∧
      before.filterMap Event.write? = (s.runFrom {} attempts state).writes.take i ∧
      before.filterMap Event.flush? = (before.filterMap Event.write?).map Prod.fst ∧
      s.runFrom out attempts state =
        ⟨before ++ out.left (state.writes + i + 1) time text, some (.outputFailed reason, time)⟩
  | attempts, state, 0, _, hfail, time, text, hi => by
    obtain ⟨before, after, hevents, hw, hf, hrun⟩ := runFrom_of_failure?_zero hfail hi
    exact ⟨before, after, hevents, by rw [hw, List.take_zero], by rw [hf, hw, List.map_nil], hrun⟩
  | attempts, state, i + 1, hbefore, hfail, time, text, hi => by
    have hfirst := hbefore 0 (Nat.zero_lt_succ i)
    rcases s.step_cases {} attempts state with
      ⟨events, next, hstep, hlast⟩ | ⟨a, rest, events, later, rfl, hstep⟩
    · have hsteps := s.steps_step {} (attempts.headD .abandon) state
      rw [hstep] at hsteps
      have hle : (events.filterMap Event.write?).length ≤ 1 := hsteps.length_writes_le
      rw [runFrom_of_last attempts hstep hlast] at hi
      have hlt : i + 1 < (events.filterMap Event.write?).length :=
        (List.getElem?_eq_some_iff.mp hi).1
      omega
    · obtain ⟨w, hwrite, hflush, hnumber, hwrites⟩ := writes_of_go rest hstep
      rw [hwrites, List.getElem?_cons_succ] at hi
      have hnumber (k : Nat) : later.writes + k + 1 = state.writes + (k + 1) + 1 := by omega
      obtain ⟨before, after, hevents, htake, hflushes, hrun⟩ :=
        runFrom_of_failure? rest later i
          (fun k hk => by rw [hnumber]; exact hbefore (k + 1) (Nat.succ_lt_succ hk))
          (by rw [hnumber]; exact hfail) hi
      have hsame := step_eq_of_failure?_eq_none (s := s) hfirst a
      refine ⟨events ++ before, after, ?_, ?_, ?_, ?_⟩
      · rw [s.runFrom_of_go {} hstep, hevents, List.append_assoc]
      · rw [List.filterMap_append, hwrite, htake, hwrites, List.take_succ_cons,
          List.singleton_append]
      · rw [List.filterMap_append, List.filterMap_append, hwrite, hflush, hflushes,
          List.map_append, List.map_singleton]
      · rw [s.runFrom_of_go out (hsame.trans hstep), hrun, hnumber, List.append_assoc]
  termination_by attempts => attempts.length

/-- **A failing output cuts a run short.** Let the output not fail before its `n`-th write, and
compare a run with the same run on an output that never fails.

* If that one writes fewer than `n` times, the two are the same.
* If the `n`-th write fails, or the flush after it, the run ends with this failure at the time at
  which the other one makes its `n`-th write, and it has started the same fetches before.
* If it is the write that fails, the run is what happens before that write in the other run: the
  first `n - 1` writes with their flushes. If it is the flush, the write and the flush come to it.
-/
theorem failing_output_truncates (s : Setup) (out : Output) (outside : Moment)
    (attempts : List Attempt) (n : Nat) (hn : 0 < n)
    (hbefore : ∀ k, 0 < k → k < n → out.failWrite k = none ∧ out.failFlush k = none) :
    let whole : Run := s.run {} outside attempts
    let r : Run := s.run out outside attempts
    (whole.writes.length < n → r = whole) ∧
    ∀ time text reason, whole.writes[n - 1]? = some (time, text) →
      out.failWrite n = some reason ∨ out.failWrite n = none ∧ out.failFlush n = some reason →
      ∃ before after, whole.events = before ++ .write time text :: .flush time :: after ∧
        r.ending = some (.outputFailed reason, time) ∧
        r.fetches = before.filterMap Event.fetch? ∧
        (out.failWrite n = some reason → r.events = before ∧
          r.writes = whole.writes.take (n - 1) ∧ r.flushes.length = n - 1) ∧
        (out.failWrite n = none → r.events = before ++ [.write time text, .flush time] ∧
          r.writes = whole.writes.take n ∧ r.flushes.length = n) := by
  obtain ⟨n, rfl⟩ : ∃ m, n = m + 1 := ⟨n - 1, (Nat.sub_add_cancel hn).symm⟩
  rw [Nat.add_sub_cancel]
  intro whole r
  have hshown (k : Nat) (hk : k < n) : out.failure? (0 + k + 1) = none := by
    rw [Nat.zero_add]
    exact Output.failure?_eq_none_iff.mpr (hbefore (k + 1) k.succ_pos (Nat.succ_lt_succ hk))
  refine ⟨fun hlt => ?_, fun time text reason hwrite hfails => ?_⟩
  · exact runFrom_eq_of_failure?_eq_none attempts _ fun k hk =>
      hshown k (Nat.lt_of_lt_of_le hk (Nat.le_of_lt_succ hlt))
  · have hfailure : out.failure? (0 + n + 1) = some reason := by
      rw [Nat.zero_add]
      rcases hfails with hw | ⟨hw, hf⟩
      · exact Output.failure?_of_write hw
      · exact Output.failure?_of_flush hw hf
    obtain ⟨before, after, hevents, hearlier, hflushes, hrun⟩ :=
      runFrom_of_failure? attempts { due := s.interval, cancelled := outside } n hshown hfailure
        hwrite
    have hwrites : before.filterMap Event.write? = whole.writes.take n := hearlier
    have hr : r = ⟨before ++ out.left (n + 1) time text, some (.outputFailed reason, time)⟩ := by
      rw [← Nat.zero_add n]
      exact hrun
    have hlen : (before.filterMap Event.write?).length = n := by
      have hlt := (List.getElem?_eq_some_iff.mp hwrite).1
      rw [hwrites, List.length_take]
      exact Nat.min_eq_left (Nat.le_of_lt hlt)
    refine ⟨before, after, hevents, by rw [hr], ?_, fun hw => ?_, fun hw => ?_⟩
    · rw [hr, Run.fetches, List.filterMap_append, Output.filterMap_fetch?_left, List.append_nil]
    · have hleft : out.left (n + 1) time text = [] := by simp [Output.left, hw]
      rw [hr, hleft, List.append_nil]
      refine ⟨rfl, hwrites, ?_⟩
      rw [Run.flushes, hflushes, List.length_map, hlen]
    · have hleft : out.left (n + 1) time text = [.write time text, .flush time] := by
        simp [Output.left, hw]
      rw [hr, hleft]
      have hwhole : whole.writes.take (n + 1) = whole.writes.take n ++ [(time, text)] := by
        rw [List.take_add_one, hwrite, Option.toList_some]
      refine ⟨rfl, ?_, ?_⟩
      · rw [hwhole, ← hwrites, Run.writes, List.filterMap_append]
        rfl
      · rw [Run.flushes, List.filterMap_append, hflushes, List.length_append, List.length_map, hlen]
        rfl

/-- A run whose second flush fails while a later fetch is still to come: both writes stand, and the
fetch does not start. -/
theorem truncates_at_second_flush :
    let s : Setup := { isWatching := true, interval := 10, painter := ⟨false⟩ }
    let out : Output := { failFlush := fun n => if n = 2 then some "flush refused" else none }
    let script : List Attempt := ["first", "second", "third"].map fun message =>
      { delay := 3, outcome := .failed ⟨.transient, .text message⟩ }
    (s.run {} none script).writes.length = 3 ∧
    (s.run out none script).ending = some (.outputFailed "flush refused", 13) ∧
    (s.run out none script).fetches = [0, 10] ∧
    (s.run out none script).writes = (s.run {} none script).writes.take 2 ∧
    (s.run out none script).flushes.length = 2 := by
  intro s out script
  have hwrites : (s.run {} none script).writes =
      [(3, Escape.clearScreen ++ "\nerror: first\n"),
        (13, Escape.clearScreen ++ "\nerror: second\n"),
        (23, Escape.clearScreen ++ "\nerror: third\n")] := by decide +kernel
  have hbefore (k : Nat) (_ : 0 < k) (hk : k < 2) :
      out.failWrite k = none ∧ out.failFlush k = none := ⟨rfl, if_neg (Nat.ne_of_lt hk)⟩
  obtain ⟨before, after, hevents, hending, hfetches, -, hflush⟩ :=
    (failing_output_truncates s out none script 2 (by decide) hbefore).2 13 _ "flush refused"
      (by rw [hwrites]; rfl) (.inr ⟨rfl, rfl⟩)
  obtain ⟨-, hw, hf⟩ := hflush rfl
  exact ⟨by rw [hwrites]; rfl, hending, by decide +kernel, hw, hf⟩

end Setup

end RolloutTree.Watch
