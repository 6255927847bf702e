import RolloutTree.Proofs.Word
import RolloutTree.Tree.Rollout

/-!
# Trees that can be built

A tree is built from an object and the objects that belong to it. The only thing that can go wrong
is a sum of counts: the restarts of the containers of a pod, or one of the counters of an analysis
run. If all of them add up the tree is built, and otherwise it is not.

## Main definitions

* `Counter`: what an analysis run counts.
* `Pod.AddsUp`, `AnalysisRun.AddsUp`: the counts of the object add up.
* `ReplicaSet.AddsUp`, `Experiment.AddsUp`, `Rollout.AddsUp`: the counts of all that belongs to the
  object add up.

## Main results

* `AnalysisRun.totals_eq_ok_iff`: the counters are added up one independently of the other.
* `Pod.build_eq_ok_iff`, `AnalysisRun.build_eq_ok_iff`, `Experiment.build_eq_ok_iff` and
  `Rollout.build_eq_ok_iff`: what is built, and when.
-/

namespace RolloutTree

/-- A node is built if the check before it does not break off. -/
theorem Crash.checked_eq_ok {check : Except Crash Unit} {a b : Node} :
    (check >>= fun _ => pure a : Except Crash Node) = .ok b ↔ check = .ok () ∧ a = b :=
  then_eq_ok.trans (and_congr_right' (Except.ok.injEq a b).to_iff)

/-! ### Pods -/

namespace Pod

/-- The restarts of the containers add up. -/
def AddsUp (p : Pod) : Prop := Word.AddsUp (p.containers.map Container.restarts)

variable {p : Pod} {now : Instant} {node : Node}

theorem addUp_eq_ok_iff : p.addUp = .ok () ↔ p.AddsUp :=
  Crash.discard_eq_ok.trans Word.exists_sum_eq_ok_iff

theorem build_eq_ok_iff : p.build now = .ok node ↔ p.AddsUp ∧ p.node now = node :=
  Crash.checked_eq_ok.trans (and_congr_left' addUp_eq_ok_iff)

end Pod

/-! ### Analysis runs -/

/-- What an analysis run counts. -/
inductive Counter where
  | successful
  | failed
  | inconclusive
  | error

namespace Counter

/-- The counter of one metric. -/
def ofMetric : Counter → MetricResult → Int32
  | successful => MetricResult.successful
  | failed => MetricResult.failed
  | inconclusive => MetricResult.inconclusive
  | error => MetricResult.error

/-- The counter of all metrics together. -/
def ofTotals : Counter → Totals → Int32
  | successful => Totals.successful
  | failed => Totals.failed
  | inconclusive => Totals.inconclusive
  | error => Totals.error

end Counter

namespace Totals

variable {t u : Totals}

theorem eq_iff : t = u ↔ ∀ c : Counter, c.ofTotals t = c.ofTotals u := by
  refine ⟨fun h c => h ▸ rfl, fun h => ?_⟩
  obtain ⟨_, _, _, _⟩ := t
  obtain ⟨_, _, _, _⟩ := u
  obtain rfl := h .successful
  obtain rfl := h .failed
  obtain rfl := h .inconclusive
  obtain rfl := h .error
  rfl

/-- The counters can be given one by one. -/
theorem exists_iff_forall_counter {P : Counter → Int32 → Prop} :
    (∃ t : Totals, ∀ c : Counter, P c (c.ofTotals t)) ↔ ∀ c, ∃ count, P c count := by
  refine ⟨fun ⟨t, ht⟩ c => ⟨_, ht c⟩, fun h => ?_⟩
  obtain ⟨count, hcount⟩ := Classical.axiomOfChoice h
  refine ⟨⟨count .successful, count .failed, count .inconclusive, count .error⟩, fun c => ?_⟩
  cases c <;> exact hcount _

/-- Of each counter the metric adds its own. -/
theorem add_eq_ok_iff {m : MetricResult} :
    t.add m = .ok u ↔
      ∀ c : Counter, Word.add (c.ofTotals t) (c.ofMetric m) = .ok (c.ofTotals u) := by
  simp only [add, Crash.bind_eq_ok]
  constructor
  · rintro ⟨_, hs, _, hf, _, hi, _, he, hu⟩ c
    obtain rfl := Except.ok.inj hu
    cases c with
    | successful => exact hs
    | failed => exact hf
    | inconclusive => exact hi
    | error => exact he
  · intro h
    exact ⟨_, h .successful, _, h .failed, _, h .inconclusive, _, h .error, rfl⟩

theorem foldlM_add_eq_ok_iff {metrics : List MetricResult} :
    metrics.foldlM add t = .ok u ↔ ∀ c : Counter,
      (metrics.map c.ofMetric).foldlM Word.add (c.ofTotals t) = .ok (c.ofTotals u) := by
  induction metrics generalizing t with
  | nil =>
    simp only [List.foldlM_nil, List.map_nil]
    exact (Except.ok.injEq t u).to_iff.trans (eq_iff.trans
      (forall_congr' fun c => (Except.ok.injEq (c.ofTotals t) (c.ofTotals u)).to_iff.symm))
  | cons m metrics ih =>
    simp only [List.foldlM_cons, List.map_cons, Crash.bind_eq_ok, add_eq_ok_iff, ih, ← forall_and]
    exact exists_iff_forall_counter (P := fun c count =>
      Word.add (c.ofTotals t) (c.ofMetric m) = .ok count ∧
        (metrics.map c.ofMetric).foldlM Word.add count = .ok (c.ofTotals u))

end Totals

namespace AnalysisRun

/-- The counters of the metrics add up. -/
def AddsUp (run : AnalysisRun) : Prop :=
  ∀ c : Counter, Word.AddsUp (run.status.metrics.map c.ofMetric)

variable {run : AnalysisRun} {now : Instant} {s : Snapshot} {node : Node}

/-- Each counter of a run is added up by itself. -/
theorem totals_eq_ok_iff {t : Totals} : run.totals = .ok t ↔
    ∀ c : Counter, Word.sum (run.status.metrics.map c.ofMetric) = .ok (c.ofTotals t) := by
  refine Totals.foldlM_add_eq_ok_iff.trans (forall_congr' fun c => ?_)
  cases c <;> rfl

theorem exists_totals_eq_ok_iff : (∃ t, run.totals = .ok t) ↔ run.AddsUp := by
  simp only [totals_eq_ok_iff]
  rw [Totals.exists_iff_forall_counter
    (P := fun c count => Word.sum (run.status.metrics.map c.ofMetric) = .ok count)]
  exact forall_congr' fun c => Word.exists_sum_eq_ok_iff

theorem addUp_eq_ok_iff : run.addUp = .ok () ↔ run.AddsUp :=
  Crash.discard_eq_ok.trans exists_totals_eq_ok_iff

theorem build_eq_ok_iff : run.build now s = .ok node ↔ run.AddsUp ∧ run.node now s = node :=
  Crash.checked_eq_ok.trans (and_congr_left' addUp_eq_ok_iff)

end AnalysisRun

/-! ### Objects that others belong to -/

/-- The restarts of all pods of the replica set add up. -/
def ReplicaSet.AddsUp (s : Snapshot) (rs : ReplicaSet) : Prop :=
  ∀ p ∈ s.podsOf rs.metadata.identity, p.AddsUp

theorem ReplicaSet.addUp_eq_ok_iff {s : Snapshot} {rs : ReplicaSet} :
    rs.addUp s = .ok () ↔ rs.AddsUp s :=
  Crash.forM_eq_ok.trans (forall₂_congr fun _ _ => Pod.addUp_eq_ok_iff)

namespace Experiment

/-- The counts of all members of the experiment add up. -/
structure AddsUp (s : Snapshot) (e : Experiment) : Prop where
  replicaSets : ∀ rs ∈ s.replicaSetsOf e.metadata.identity, rs.AddsUp s
  analysisRuns : ∀ run ∈ s.analysisRunsOf e.metadata.identity, run.AddsUp

variable {e : Experiment} {now : Instant} {s : Snapshot} {node : Node}

theorem addUp_eq_ok_iff : e.addUp s = .ok () ↔ e.AddsUp s := by
  simp only [addUp, Crash.then_eq_ok, Crash.forM_eq_ok, ReplicaSet.addUp_eq_ok_iff,
    AnalysisRun.addUp_eq_ok_iff]
  exact ⟨fun ⟨hsets, hruns⟩ => ⟨hsets, hruns⟩, fun ⟨hsets, hruns⟩ => ⟨hsets, hruns⟩⟩

theorem build_eq_ok_iff : e.build now s = .ok node ↔ e.AddsUp s ∧ e.node now s = node :=
  Crash.checked_eq_ok.trans (and_congr_left' addUp_eq_ok_iff)

end Experiment

namespace Rollout

/-- The counts of all that belongs to the rollout add up. -/
structure AddsUp (s : Snapshot) (r : Rollout) : Prop where
  replicaSets : ∀ rs ∈ s.replicaSetsOf r.metadata.identity, rs.AddsUp s
  experiments : ∀ e ∈ s.experimentsOf r.metadata.identity, e.AddsUp s
  analysisRuns : ∀ run ∈ s.analysisRunsOf r.metadata.identity, run.AddsUp

variable {r : Rollout} {now : Instant} {s : Snapshot} {node : Node}

theorem addUp_eq_ok_iff : r.addUp s = .ok () ↔ r.AddsUp s := by
  simp only [addUp, Crash.then_eq_ok, Crash.forM_eq_ok, ReplicaSet.addUp_eq_ok_iff,
    Experiment.addUp_eq_ok_iff, AnalysisRun.addUp_eq_ok_iff]
  exact ⟨fun ⟨hsets, hexperiments, hruns⟩ => ⟨hsets, hexperiments, hruns⟩,
    fun ⟨hsets, hexperiments, hruns⟩ => ⟨hsets, hexperiments, hruns⟩⟩

theorem build_eq_ok_iff : r.build now s = .ok node ↔ r.AddsUp s ∧ r.node now s = node :=
  Crash.checked_eq_ok.trans (and_congr_left' addUp_eq_ok_iff)

end Rollout

end RolloutTree
