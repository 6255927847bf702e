import RolloutTree.Proofs.Watch.Step

/-!
# What a watching run shows

A fetch completes if it has its outcome before a limit comes and before it cancels the run itself. A
watching run whose output does not fail writes once for every fetch that completes, unless the
failure is fatal: a tree as its frame, a transient failure below the frame of the last tree before
it. What is written depends on the history of the outcomes alone, so that the messages of several
failures never stand below each other.

## Main definitions

* `Attempt.completion?`, `Setup.completions`: the fetches that complete, with their times.
* `Setup.Refreshes`: one refresh by what becomes of its fetch.
* `lastFrame`, `shownAfter`: what is shown of an outcome after a history of outcomes.

## Main results

* `Setup.writes_of_completions`: what a watching run writes.
-/

namespace RolloutTree.Watch

/-! ### Fetches that complete -/

/-- When a fetch that starts at a time completes, and with which outcome: it does if neither a limit
comes nor the fetch cancels the run before. -/
def Attempt.completion? (a : Attempt) (l : Limits) (start : Nat) : Option (Nat × Outcome) :=
  (a.finish start).bind fun time =>
    if l.IsOpen time ∧ ∀ c ∈ a.cancellation start, time ≤ c then some (time, a.outcome) else none

/-- A fetch does not complete if a limit comes before it does anything, or if what it does first is
only to cancel the run. -/
theorem Attempt.completion?_eq_none {a : Attempt} {l : Limits} {start : Nat}
    (h : ∀ m, a.firstMove start = some m → ¬l.IsOpen m ∨ a.finish start ≠ some m) :
    a.completion? l start = none := by
  unfold completion?
  cases hf : a.finish start with
  | none => rfl
  | some time =>
    refine if_neg fun ⟨ho, hc⟩ => ?_
    rcases h time (a.firstMove_of_finish hf hc) with hn | hn
    · exact hn ho
    · exact hn hf

/-- The fetches that complete, in order, for a run that can be cancelled from outside and that
starts its fetches at the given times. -/
def Setup.completions (s : Setup) (outside : Moment) (starts : List Nat) (attempts : List Attempt) :
    List (Nat × Outcome) :=
  (starts.zip attempts).filterMap fun (start, a) => a.completion? (s.limits outside) start

theorem completion?_abandon (l : Limits) (start : Nat) :
    Attempt.abandon.completion? l start = none := rfl

namespace Setup

@[simp] theorem completions_nil (s : Setup) (outside : Moment) (attempts : List Attempt) :
    s.completions outside [] attempts = [] := rfl

@[simp] theorem completions_no_attempts (s : Setup) (outside : Moment) (starts : List Nat) :
    s.completions outside starts [] = [] := by
  simp [completions]

theorem completions_cons (s : Setup) (outside : Moment) (start : Nat) (starts : List Nat)
    (a : Attempt) (attempts : List Attempt) :
    s.completions outside (start :: starts) (a :: attempts) =
      (a.completion? (s.limits outside) start).toList ++ s.completions outside starts attempts := by
  unfold completions
  rw [List.zip_cons_cons, List.filterMap_cons]
  cases h : a.completion? (s.limits outside) start <;> simp [h]

end Setup

/-! ### What is shown -/

/-- The tree of an outcome. -/
def Outcome.tree? : Outcome → Option Node
  | .tree node => some node
  | _ => none

/-- The frame of the last tree of a history of outcomes, empty if there was none. -/
def lastFrame (p : Painter) (history : List Outcome) : String :=
  ((history.filterMap Outcome.tree?).getLast?.map (Frame.text p)).getD ""

/-- What is shown of an outcome after a history of outcomes, if anything is. -/
def shownAfter (p : Painter) (history : List Outcome) : Outcome → Option String
  | .tree node => some (Frame.text p node)
  | .failed failure =>
    if failure.severity = .fatal then none
    else some (lastFrame p history ++ "\nerror: " ++ failure.message ++ "\n")
  | .nothing => none

theorem lastFrame_append_tree (p : Painter) (history : List Outcome) (node : Node) :
    lastFrame p (history ++ [.tree node]) = Frame.text p node := by
  simp [lastFrame, Outcome.tree?]

/-- Outcomes without a tree leave the last frame as it is. -/
theorem lastFrame_append_of_tree?_eq_none (p : Painter) (history later : List Outcome)
    (h : ∀ o ∈ later, o.tree? = none) : lastFrame p (history ++ later) = lastFrame p history := by
  have hnil : later.filterMap Outcome.tree? = [] := List.filterMap_eq_nil_iff.mpr h
  rw [lastFrame, List.filterMap_append, hnil, List.append_nil, lastFrame]

namespace Setup

variable {s : Setup} {out : Output}

/-- What a watching run shows of an outcome over the last frame, and the frame that stays. -/
theorem display_lastFrame (hs : s.isWatching = true) (history : List Outcome) (o : Outcome) :
    s.display (lastFrame s.painter history) o =
      (shownAfter s.painter history o).map fun text =>
        (text, lastFrame s.painter (history ++ [o])) := by
  cases o with
  | tree node => rw [lastFrame_append_tree]; rfl
  | failed failure =>
    rw [lastFrame_append_of_tree?_eq_none _ _ _ (by simp [Outcome.tree?])]
    by_cases hf : failure.severity = .fatal <;> simp [display, shownAfter, failureText, hs, hf]
  | nothing => rfl

/-! ### One refresh -/

/-- What is shown of an outcome is written and flushed once, if the output does not fail. -/
theorem Settles.writes_eq {state : State} {time : Nat} {outcome : Outcome} {events : List Event}
    {next : Next} (h : s.Settles out state time outcome events next)
    (hout : ∀ reason stop, next ≠ .stop (.outputFailed reason) stop) :
    events.filterMap Event.fetch? = [] ∧
    events.filterMap Event.write? =
      ((s.display state.frame outcome).map fun d => (time, s.shown d.1)).toList ∧
    events.filterMap Event.flush? = (events.filterMap Event.write?).map Prod.fst := by
  cases h with
  | fails failure hf => simp [display, hf]
  | shows _ text frame _ _ ht hd =>
    have hdrawn : events = s.drawn time text := by
      cases hd with
      | writeFails reason => exact absurd rfl (hout reason time)
      | flushFails reason => exact absurd rfl (hout reason time)
      | completes => rfl
      | halts => rfl
      | pauses => rfl
    simp [hdrawn, ht]

/-- A refresh by what becomes of its fetch: the fetch does not start, or it starts and does not
complete, and then nothing is shown and only a limit can stop the run; or it completes, and what
follows is settled by its outcome. The fetch may cancel the run itself, at last together with its
outcome. -/
inductive Refreshes (s : Setup) (out : Output) (a : Attempt) (state : State) :
    List Event → Next → Prop
  | refused (ending : Ending) (time : Nat) (hl : ending.IsLimit) :
      Refreshes s out a state [] (.stop ending time)
  | incomplete (cancels : List Event) (hc : ∀ e ∈ cancels, ∃ t, e = .cancel t)
      (hd : a.completion? (s.limits state.cancelled) state.now = none) (next : Next)
      (hl : next = .endless ∨ ∃ ending time, next = .stop ending time ∧ ending.IsLimit) :
      Refreshes s out a state (.fetch state.now :: cancels) next
  | completes (cancels : List Event) (hc : ∀ e ∈ cancels, ∃ t, e = .cancel t) (time : Nat)
      (hd : a.completion? (s.limits state.cancelled) state.now = some (time, a.outcome))
      (cancelled : Moment) (events : List Event) (next : Next)
      (hn : s.Settles out { state with cancelled } time a.outcome events next) :
      Refreshes s out a state (.fetch state.now :: (cancels ++ events)) next

theorem Steps.refreshes {a : Attempt} {state : State} {events : List Event} {next : Next}
    (h : s.Steps out a state events next) : s.Refreshes out a state events next := by
  cases h with
  | refused ending time hh => exact .refused ending time hh.isLimit
  | interrupted hs ending time hh =>
    refine .incomplete [] (by simp) ?_ _ (Or.inr ⟨ending, time, rfl, hh.isLimit⟩)
    refine a.completion?_eq_none fun m hm => Or.inl fun ho => ?_
    rw [hm] at hh
    exact Limits.Halts.not_of_isOpen ho (a.le_of_firstMove hm) hh
  | hangs hs hc hd hm =>
    refine .incomplete [] (by simp) ?_ _ (Or.inl rfl)
    exact a.completion?_eq_none fun m hm' => by simp [hm] at hm'
  | abandons hs time ho hc hf =>
    refine .incomplete [.cancel time] (by simp) ?_ _ (Or.inr ⟨_, time, rfl, Or.inl rfl⟩)
    refine a.completion?_eq_none fun m hm => Or.inr fun hfm => ?_
    rcases a.firstMove_cases hm with ⟨-, hn⟩ | ⟨hn, -⟩ | ⟨hcm, -⟩
    · exact hn hfm
    · simp [hn] at hc
    · rw [hc] at hcm
      exact hf (hcm ▸ hfm)
  | finishes hs time ho hc hf events _ hn =>
    refine .completes [] (by simp) time ?_ state.cancelled events _ hn
    simp [Attempt.completion?, hf, hc, ho]
  | finishesLast hs time ho hc hf events _ hn =>
    refine .completes [.cancel time] (by simp) time ?_ (some time) events _ hn
    simp [Attempt.completion?, hf, hc, ho]

/-- A fetch that starts and cancellations after it are one fetch; nothing is written or flushed by
them. -/
theorem filterMap_refresh {cancels : List Event} (h : ∀ e ∈ cancels, ∃ t, e = .cancel t)
    (start : Nat) (events : List Event) :
    (.fetch start :: (cancels ++ events)).filterMap Event.fetch? =
        start :: events.filterMap Event.fetch? ∧
      (.fetch start :: (cancels ++ events)).filterMap Event.write? =
        events.filterMap Event.write? ∧
      (.fetch start :: (cancels ++ events)).filterMap Event.flush? =
        events.filterMap Event.flush? := by
  induction cancels with
  | nil => exact ⟨rfl, rfl, rfl⟩
  | cons e cancels ih =>
    obtain ⟨⟨t, rfl⟩, hcancels⟩ := List.forall_mem_cons.mp h
    exact ih hcancels

/-- A refresh whose output does not fail either has no fetch that completes and shows nothing, or
its fetch completes and what is shown of its outcome is written and flushed. -/
theorem Steps.writes_eq {a : Attempt} {state : State} {events : List Event} {next : Next}
    (h : s.Steps out a state events next)
    (hout : ∀ reason stop, next ≠ .stop (.outputFailed reason) stop) :
    events.filterMap Event.flush? = (events.filterMap Event.write?).map Prod.fst ∧
    ((events.filterMap Event.fetch? = [] ∨ events.filterMap Event.fetch? = [state.now] ∧
        a.completion? (s.limits state.cancelled) state.now = none) ∧
      events.filterMap Event.write? = [] ∨
    events.filterMap Event.fetch? = [state.now] ∧
      ∃ time, a.completion? (s.limits state.cancelled) state.now = some (time, a.outcome) ∧
        events.filterMap Event.write? =
          ((s.display state.frame a.outcome).map fun d => (time, s.shown d.1)).toList) := by
  cases h.refreshes with
  | refused => exact ⟨rfl, Or.inl ⟨Or.inl rfl, rfl⟩⟩
  | incomplete cancels hc hd =>
    have hfilter := filterMap_refresh hc state.now []
    rw [List.append_nil] at hfilter
    obtain ⟨hfetch, hwrite, hflush⟩ := hfilter
    exact ⟨by rw [hflush, hwrite]; rfl, Or.inl ⟨Or.inr ⟨hfetch, hd⟩, hwrite⟩⟩
  | completes cancels hc time hd _ events _ hn =>
    obtain ⟨hfetch, hwrite, hflush⟩ := filterMap_refresh hc state.now events
    obtain ⟨hfetch', hwrite', hflush'⟩ := hn.writes_eq hout
    rw [hfetch, hwrite, hflush, hfetch']
    exact ⟨hflush', Or.inr ⟨rfl, time, hd, hwrite'⟩⟩

/-! ### Whole runs -/

/-- The write for a completed fetch, after a history of outcomes. -/
def writeFor (s : Setup) (history : List Outcome) (completed : Nat × Outcome) :
    Option (Nat × String) :=
  (shownAfter s.painter history completed.2).map fun body => (completed.1, s.shown body)

/-- What the last refresh of a run writes. -/
theorem Steps.writes_getElem? {attempts : List Attempt} {state : State} {events : List Event}
    {next : Next} (h : s.Steps out (attempts.headD .abandon) state events next)
    (hs : s.isWatching = true) (hout : ∀ reason stop, next ≠ .stop (.outputFailed reason) stop)
    (history : List Outcome) (hframe : state.frame = lastFrame s.painter history) (i : Nat) :
    (events.filterMap Event.write?)[i]? =
      ((s.completions state.cancelled (events.filterMap Event.fetch?) attempts)[i]?).bind
        (s.writeFor (history ++ ((s.completions state.cancelled (events.filterMap Event.fetch?)
          attempts).take i).map Prod.snd)) := by
  obtain ⟨-, ⟨hfetch, hwrite⟩ | ⟨hfetch, time, hcomp, hwrite⟩⟩ := h.writes_eq hout
  · have hnone : s.completions state.cancelled (events.filterMap Event.fetch?) attempts = [] := by
      rcases hfetch with hfetch | ⟨hfetch, hcomp⟩
      · rw [hfetch, completions_nil]
      · cases attempts with
        | nil => rw [completions_no_attempts]
        | cons a rest =>
          rw [List.headD_cons] at hcomp
          rw [hfetch, completions_cons, hcomp, completions_nil]
          rfl
    rw [hnone, hwrite]
    rfl
  · cases attempts with
    | nil => exact absurd hcomp (by simp [completion?_abandon])
    | cons a rest =>
      rw [List.headD_cons] at hcomp hwrite
      rw [hfetch, completions_cons, hcomp, completions_nil, hwrite, hframe,
        display_lastFrame hs]
      cases i with
      | zero => cases h : shownAfter s.painter history a.outcome <;> simp [writeFor, h]
      | succ i => cases h : shownAfter s.painter history a.outcome <;> simp

/-- What a run writes from a state on whose frame is the last one of a history of outcomes. -/
theorem Runs.writes_getElem? {attempts : List Attempt} {state : State} {r : Run}
    (h : s.Runs out attempts state r) (hs : s.isWatching = true)
    (hout : ∀ reason stop, r.ending ≠ some (.outputFailed reason, stop)) (history : List Outcome)
    (hframe : state.frame = lastFrame s.painter history) (i : Nat) :
    r.writes[i]? = ((s.completions state.cancelled r.fetches attempts)[i]?).bind
      (s.writeFor (history ++
        ((s.completions state.cancelled r.fetches attempts).take i).map Prod.snd)) := by
  induction h generalizing history i with
  | stops attempts state events ending time h =>
    exact h.writes_getElem? hs (fun reason stop he => hout reason stop (by cases he; rfl)) history
      hframe i
  | hangs attempts state events h => exact h.writes_getElem? hs (by simp) history hframe i
  | goes a rest state state' events r h hr ih =>
    obtain ⟨time, text, frame, -, hopen, hc, hf, ht, hp, rfl, rfl⟩ := h.of_go
    have hcomp : a.completion? (s.limits state.cancelled) state.now = some (time, a.outcome) := by
      simp [Attempt.completion?, hf, hc, hp.of_le (Nat.le_max_left ..)]
    rw [hframe, display_lastFrame hs] at ht
    obtain ⟨text', hshown, heq⟩ := Option.map_eq_some_iff.mp ht
    obtain ⟨rfl, rfl⟩ := Prod.mk.inj heq
    have hwrites : Run.writes ⟨.fetch state.now :: s.drawn time text' ++ r.events, r.ending⟩ =
        (time, s.shown text') :: r.writes := rfl
    have hfetches : Run.fetches ⟨.fetch state.now :: s.drawn time text' ++ r.events, r.ending⟩ =
        state.now :: r.fetches := rfl
    have ih' := ih hout (history ++ [a.outcome]) rfl
    rw [hwrites, hfetches, completions_cons, hcomp, Option.toList_some, List.singleton_append]
    cases i with
    | zero => simp [writeFor, hshown]
    | succ i => simpa [paused, List.append_assoc] using ih' i

/-- Every write of a run whose output does not fail is followed by one flush. -/
theorem Runs.flushes_eq {attempts : List Attempt} {state : State} {r : Run}
    (h : s.Runs out attempts state r)
    (hout : ∀ reason stop, r.ending ≠ some (.outputFailed reason, stop)) :
    r.flushes = r.writes.map Prod.fst := by
  induction h with
  | stops attempts state events ending time h =>
    exact (h.writes_eq fun reason stop he => hout reason stop (by cases he; rfl)).1
  | hangs attempts state events h => exact (h.writes_eq (by simp)).1
  | goes a rest state state' events r h hr ih =>
    simp only [Run.flushes, Run.writes, List.filterMap_append, List.map_append] at ih ⊢
    rw [(h.writes_eq (by simp)).1, ih hout]

/-- The last frame after a tree with no other tree behind it is that tree's. -/
theorem lastFrame_take {p : Painter} {done : List (Nat × Outcome)} {i j start : Nat} {node : Node}
    (hij : i < j) (hi : done[i]? = some (start, .tree node))
    (hbetween : ∀ k t o, i < k → k < j → done[k]? = some (t, o) → o.tree? = none) :
    lastFrame p ((done.take j).map Prod.snd) = Frame.text p node := by
  obtain ⟨n, rfl⟩ := Nat.exists_eq_add_of_lt hij
  have hsplit : done.take (i + n + 1) =
      done.take i ++ [(start, Outcome.tree node)] ++ (done.drop (i + 1)).take n := by
    rw [show i + n + 1 = i + 1 + n by omega, List.take_add, List.take_add_one, hi,
      Option.toList_some]
  have hlater : ∀ o ∈ ((done.drop (i + 1)).take n).map Prod.snd, Outcome.tree? o = none := by
    intro o ho
    obtain ⟨⟨t, o⟩, hmem, rfl⟩ := List.mem_map.mp ho
    obtain ⟨k, hk⟩ := List.mem_iff_getElem?.mp hmem
    have hlt : k < n := by
      have := (List.getElem?_eq_some_iff.mp hk).1
      rw [List.length_take] at this
      omega
    rw [List.getElem?_take_of_lt hlt, List.getElem?_drop] at hk
    exact hbetween (i + 1 + k) t o (by omega) (by omega) hk
  rw [hsplit, List.map_append, List.map_append,
    lastFrame_append_of_tree?_eq_none _ _ _ hlater]
  exact lastFrame_append_tree p _ node

/-- **What a watching run shows.** In a run that watches and whose output does not fail, the `i`-th
write is the one for the `i`-th fetch that completes, at the time at which it does: the screen is
cleared, and a tree is shown as its frame, a failure as its message under the frame of the last tree
before it, which is empty if there was none. A fatal failure has no write. Each write is followed by
one flush. In particular, what a failure shows depends on the last tree only, whatever failures
stand between the two. -/
theorem writes_of_completions (s : Setup) (out : Output) (outside : Moment)
    (attempts : List Attempt) (hs : s.isWatching = true)
    (hout : ∀ reason stop,
      (s.run out outside attempts).ending ≠ some (.outputFailed reason, stop)) :
    let r : Run := s.run out outside attempts
    let done : List (Nat × Outcome) := s.completions outside r.fetches attempts
    (∀ i, r.writes[i]? = (done[i]?).bind fun c =>
      (shownAfter s.painter ((done.take i).map Prod.snd) c.2).map fun body =>
        (c.1, "\x1b[H\x1b[2J\x1b[0;0H" ++ body)) ∧
    r.flushes = r.writes.map Prod.fst ∧
    ∀ (i j start time : Nat) (node : Node) (failure : FetchFailure), i < j →
      done[i]? = some (start, Outcome.tree node) →
      (∀ (k t : Nat) (o : Outcome), i < k → k < j → done[k]? = some (t, o) → o.tree? = none) →
      done[j]? = some (time, Outcome.failed failure) → failure.severity ≠ .fatal →
      r.writes[j]? = some (time, "\x1b[H\x1b[2J\x1b[0;0H" ++
        (Frame.text s.painter node ++ "\nerror: " ++ failure.message ++ "\n")) := by
  intro r done
  have hr := s.runs_runFrom out attempts { due := s.interval, cancelled := outside }
  have hfor (history : List Outcome) : s.writeFor history = fun c =>
      (shownAfter s.painter history c.2).map fun body =>
        (c.1, "\x1b[H\x1b[2J\x1b[0;0H" ++ body) := by
    funext c
    simp [writeFor, shown, hs, Escape.clearScreen]
  have hwrites : ∀ i, r.writes[i]? = (done[i]?).bind fun c =>
      (shownAfter s.painter ((done.take i).map Prod.snd) c.2).map fun body =>
        (c.1, "\x1b[H\x1b[2J\x1b[0;0H" ++ body) := by
    intro i
    have h := hr.writes_getElem? hs hout [] rfl i
    rwa [List.nil_append, hfor] at h
  refine ⟨hwrites, hr.flushes_eq hout, ?_⟩
  intro i j start time node failure hij hi hbetween hj hf
  have hlast := lastFrame_take (p := s.painter) hij hi hbetween
  rw [hwrites, hj, Option.bind_some, shownAfter, if_neg hf, hlast]
  rfl

/-- A tree, two failures that may pass, and one that does not: the second failure is shown under the
tree, without the first one, and the last one is not shown. -/
theorem writes_after_two_failures :
    let s : Setup := { isWatching := true, interval := 10, painter := ⟨false⟩ }
    let node : Node := { kind := .rollout, name := "guestbook" }
    let second : FetchFailure := ⟨.transient, .text "second"⟩
    let script : List Attempt := [{ outcome := .tree node },
      { outcome := .failed ⟨.transient, .text "first"⟩ }, { delay := 3, outcome := .failed second },
      { outcome := .failed ⟨.fatal, .text "gone"⟩ }]
    (s.run {} none script).ending = some (.fetchFailed ⟨.fatal, .text "gone"⟩, 30) ∧
    (s.run {} none script).writes[2]? = some (23, "\x1b[H\x1b[2J\x1b[0;0H" ++
      (Frame.text s.painter node ++ "\nerror: " ++ second.message ++ "\n")) ∧
    (s.run {} none script).writes[3]? = none := by
  intro s node second script
  have hend : (s.run {} none script).ending =
      some (.fetchFailed ⟨.fatal, .text "gone"⟩, 30) := by decide +kernel
  have hdone : s.completions none (s.run {} none script).fetches script =
      [(0, .tree node), (10, .failed ⟨.transient, .text "first"⟩), (23, .failed second),
        (30, .failed ⟨.fatal, .text "gone"⟩)] := by
    have hfetches : (s.run {} none script).fetches = [0, 10, 20, 30] := by decide +kernel
    rw [hfetches]
    rfl
  have h := writes_of_completions s {} none script rfl fun reason stop => by simp [hend]
  refine ⟨hend, ?_, ?_⟩
  · refine h.2.2 0 2 0 23 node second (by decide) (by rw [hdone]; rfl) ?_ (by rw [hdone]; rfl)
      (by decide)
    intro k t o hk hk' hkt
    obtain rfl : k = 1 := by omega
    rw [hdone] at hkt
    cases hkt
    rfl
  · rw [h.1, hdone]
    rfl

end Setup

end RolloutTree.Watch
