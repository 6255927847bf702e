import RolloutTree.Watch.Run

/-!
# What ends a wait

A wait is over when what it waits for comes while its limits are open, or else when one of the
limits comes: the cancellation, or the deadline if it comes before the cancellation. A wait that
starts before its limits have passed is ended by a limit exactly when that limit comes.

## Main definitions

* `Limits.IsOpen`: neither limit has come yet.
* `Limits.NotPast`: neither limit has been passed; it may come just now.
* `Limits.Halts`: a limit ends a wait, which one and when.
* `Ending.IsLimit`: a run ends by one of its limits.

## Main results

* `Limits.Halts.notPast`, `Limits.Halts.eq_of_cancelled`, `Limits.Halts.eq_of_timedOut`: the times
  at which limits end waits.
* `Setup.await_cases`: the three ways in which a wait of a run goes on.
-/

namespace RolloutTree.Watch

/-- The run ends because it is cancelled or because its deadline has come. -/
def Ending.IsLimit (e : Ending) : Prop := e = .cancelled ∨ e = .timedOut

namespace Limits

variable {l : Limits} {now time : Nat} {awaited : Moment} {ending : Ending}

/-- Neither the cancellation nor the deadline has come at the time. -/
def IsOpen (l : Limits) (time : Nat) : Prop :=
  (∀ c ∈ l.cancelled, time < c) ∧ ∀ d ∈ l.deadline, time < d

instance (l : Limits) (time : Nat) : Decidable (l.IsOpen time) :=
  inferInstanceAs (Decidable (_ ∧ _))

/-- Neither the cancellation nor the deadline has been passed at the time. -/
def NotPast (l : Limits) (time : Nat) : Prop :=
  (∀ c ∈ l.cancelled, time ≤ c) ∧ ∀ d ∈ l.deadline, time ≤ d

theorem IsOpen.notPast (h : l.IsOpen time) : l.NotPast time :=
  ⟨fun c hc => Nat.le_of_lt (h.1 c hc), fun d hd => Nat.le_of_lt (h.2 d hd)⟩

theorem IsOpen.of_le {time' : Nat} (h : l.IsOpen time) (hle : time' ≤ time) : l.IsOpen time' :=
  ⟨fun c hc => Nat.lt_of_le_of_lt hle (h.1 c hc), fun d hd => Nat.lt_of_le_of_lt hle (h.2 d hd)⟩

/-- A limit ends a wait that starts now: the cancellation does unless something comes before it, the
deadline if it comes before the cancellation and nothing before it. -/
inductive Halts (l : Limits) (now : Nat) (awaited : Moment) : Ending → Nat → Prop
  | cancelled (c : Nat) (hc : l.cancelled = some c)
      (hd : ∀ d ∈ l.deadline, max now c ≤ max now d)
      (hm : ∀ m ∈ awaited, max now c ≤ max now m) : Halts l now awaited .cancelled (max now c)
  | timedOut (d : Nat) (hd : l.deadline = some d)
      (hc : ∀ c ∈ l.cancelled, max now d < max now c)
      (hm : ∀ m ∈ awaited, max now d ≤ max now m) : Halts l now awaited .timedOut (max now d)

namespace Halts

theorem isLimit (h : l.Halts now awaited ending time) : ending.IsLimit := by
  cases h with
  | cancelled => exact Or.inl rfl
  | timedOut => exact Or.inr rfl

/-- A wait that starts before its limits have passed ends before they have. -/
theorem notPast (h : l.Halts now awaited ending time) (hn : l.NotPast now) : l.NotPast time := by
  cases h with
  | cancelled c hc hd hm =>
    have hnc : now ≤ c := hn.1 c hc
    refine ⟨fun c' hc' => ?_, fun d hd' => ?_⟩
    · rw [hc, Option.mem_some_iff] at hc'
      omega
    · have hcd := hd d hd'
      have hnd := hn.2 d hd'
      omega
  | timedOut d hd hc hm =>
    have hnd : now ≤ d := hn.2 d hd
    refine ⟨fun c hc' => ?_, fun d' hd' => ?_⟩
    · have hdc := hc c hc'
      have hnc := hn.1 c hc'
      omega
    · rw [hd, Option.mem_some_iff] at hd'
      omega

theorem eq_of_cancelled (h : l.Halts now awaited .cancelled time) (hn : l.NotPast now) :
    l.cancelled = some time := by
  cases h with
  | cancelled c hc => rw [hc, Nat.max_eq_right (hn.1 c hc)]

theorem eq_of_timedOut (h : l.Halts now awaited .timedOut time) (hn : l.NotPast now) :
    l.deadline = some time := by
  cases h with
  | timedOut d hd => rw [hd, Nat.max_eq_right (hn.2 d hd)]

/-- No limit ends a wait for something that comes while the limits are open. -/
theorem not_of_isOpen {m : Nat} (ho : l.IsOpen m) (hm : now ≤ m) :
    ¬l.Halts now (some m) ending time := by
  intro h
  cases h with
  | cancelled c hc _ hle =>
    have hmc := ho.1 c hc
    have hcm := hle m rfl
    omega
  | timedOut d hd _ hle =>
    have hmd := ho.2 d hd
    have hdm := hle m rfl
    omega

end Halts

/-- The earlier of two things is the first one, unless the second one is before it. -/
theorem earlier_cases {α : Type} (a b : Option (Nat × α)) :
    (∃ x, a = some x ∧ earlier a b = some x ∧ ∀ y ∈ b, x.1 ≤ y.1) ∨
    (∃ y, b = some y ∧ earlier a b = some y ∧ ∀ x ∈ a, y.1 < x.1) ∨
    (a = none ∧ b = none ∧ earlier a b = none) := by
  cases a with
  | none => cases b <;> simp [earlier]
  | some x =>
    cases b with
    | none => simp [earlier]
    | some y =>
      by_cases h : x.1 ≤ y.1
      · exact Or.inl ⟨x, rfl, if_pos h, by simpa using h⟩
      · exact Or.inr (Or.inl ⟨y, rfl, if_neg h, by simpa using h⟩)

theorem noticed_eq_some_iff {α : Type} {m : Moment} {a : α} {x : Nat × α} :
    noticed now m a = some x ↔ ∃ t, m = some t ∧ (max now t, a) = x := Option.map_eq_some_iff

theorem forall_mem_noticed {α : Type} {m : Moment} {a : α} {p : Nat → Prop} :
    (∀ x ∈ noticed now m a, p x.1) ↔ ∀ t ∈ m, p (max now t) := by
  cases m <;> simp [noticed]

theorem noticed_eq_none_iff {α : Type} {m : Moment} {a : α} :
    noticed now m a = none ↔ m = none := Option.map_eq_none_iff

/-- A wait ends with a limit, with what it waits for, or never. -/
theorem wait_cases (l : Limits) (now : Nat) (awaited : Moment) :
    (∃ time, l.wait now awaited = some (time, .cancelled) ∧
      l.Halts now awaited .cancelled time) ∨
    (∃ time, l.wait now awaited = some (time, .timedOut) ∧
      l.Halts now awaited .timedOut time) ∨
    (∃ m, awaited = some m ∧ l.wait now awaited = some (max now m, .ready) ∧
      l.IsOpen (max now m)) ∨
    (l.wait now awaited = none ∧ l.cancelled = none ∧ l.deadline = none ∧ awaited = none) := by
  unfold wait
  rcases earlier_cases (noticed now l.cancelled Wake.cancelled)
      (noticed now l.deadline Wake.timedOut) with ⟨x, hx, hl, hd⟩ | ⟨x, hx, hl, hc⟩ | ⟨hc, hd, hl⟩
  · obtain ⟨c, hc, rfl⟩ := noticed_eq_some_iff.mp hx
    rw [forall_mem_noticed (p := (max now c ≤ ·))] at hd
    rcases earlier_cases (some (max now c, Wake.cancelled)) (noticed now awaited Wake.ready) with
      ⟨_, hy, he, hm⟩ | ⟨y, hy, he, hm⟩ | ⟨hn, -⟩
    · obtain rfl := Option.some.inj hy
      rw [forall_mem_noticed (p := (max now c ≤ ·))] at hm
      exact Or.inl ⟨_, by rw [hl, he], .cancelled c hc hd hm⟩
    · obtain ⟨m, rfl, rfl⟩ := noticed_eq_some_iff.mp hy
      have hlt : max now m < max now c := hm _ rfl
      refine Or.inr (Or.inr (Or.inl ⟨m, rfl, by rw [hl, he], fun c' hc' => ?_, fun d hd' => ?_⟩))
      · rw [hc, Option.mem_some_iff] at hc'
        omega
      · have hcd := hd d hd'
        omega
    · exact absurd hn (by simp)
  · obtain ⟨d, hd, rfl⟩ := noticed_eq_some_iff.mp hx
    rw [forall_mem_noticed (p := (max now d < ·))] at hc
    rcases earlier_cases (some (max now d, Wake.timedOut)) (noticed now awaited Wake.ready) with
      ⟨_, hy, he, hm⟩ | ⟨y, hy, he, hm⟩ | ⟨hn, -⟩
    · obtain rfl := Option.some.inj hy
      rw [forall_mem_noticed (p := (max now d ≤ ·))] at hm
      exact Or.inr (Or.inl ⟨_, by rw [hl, he], .timedOut d hd hc hm⟩)
    · obtain ⟨m, rfl, rfl⟩ := noticed_eq_some_iff.mp hy
      have hlt : max now m < max now d := hm _ rfl
      refine Or.inr (Or.inr (Or.inl ⟨m, rfl, by rw [hl, he], fun c hc' => ?_, fun d' hd' => ?_⟩))
      · have hdc := hc c hc'
        omega
      · rw [hd, Option.mem_some_iff] at hd'
        omega
    · exact absurd hn (by simp)
  · rw [noticed_eq_none_iff] at hc hd
    cases awaited with
    | none => exact Or.inr (Or.inr (Or.inr ⟨by rw [hl]; rfl, hc, hd, rfl⟩))
    | some m =>
      refine Or.inr (Or.inr (Or.inl ⟨m, rfl, by rw [hl]; rfl, ?_, ?_⟩))
      · simp [hc]
      · simp [hd]

end Limits

namespace Setup

/-- A wait of a run goes on in one of three ways: a limit stops the run, what is awaited comes
while the limits are open, or nothing ever comes. -/
theorem await_cases (s : Setup) (cancelled : Moment) (now : Nat) (awaited : Moment)
    (next : Nat → List Event × Next) :
    (∃ ending time, (s.limits cancelled).Halts now awaited ending time ∧
      s.await cancelled now awaited next = ([], .stop ending time)) ∨
    (∃ m, awaited = some m ∧ (s.limits cancelled).IsOpen (max now m) ∧
      s.await cancelled now awaited next = next (max now m)) ∨
    (cancelled = none ∧ s.deadline = none ∧ awaited = none ∧
      s.await cancelled now awaited next = ([], .endless)) := by
  unfold await
  rcases (s.limits cancelled).wait_cases now awaited with
    ⟨time, hw, hh⟩ | ⟨time, hw, hh⟩ | ⟨m, hm, hw, ho⟩ | ⟨hw, hc, hd, hm⟩
  · exact Or.inl ⟨.cancelled, time, hh, by rw [hw]⟩
  · exact Or.inl ⟨.timedOut, time, hh, by rw [hw]⟩
  · exact Or.inr (Or.inl ⟨m, hm, ho, by rw [hw]⟩)
  · exact Or.inr (Or.inr ⟨hc, hd, hm, by rw [hw]⟩)

end Setup

end RolloutTree.Watch
