import RolloutTree.Proofs.Tree.Building
import RolloutTree.Proofs.Tree.Reading

/-!
# Counters that are added up

An analysis run adds up the outcomes of its metrics, and a pod the restarts of its containers. The
numbers are words of 32 bits with a sign, and so are the sums. Where a node is built, its tags tell
the right sums. But the node is not built if a sum on the way is none of these words, and then it
does not matter whether the last sum would be one again, or would have a tag at all.

## Main definitions

* `Counter.tag`, `Pod.restartsTag`: the tag for a number.
* `TagsTell`: what the tags of a node tell about a sum.

## Main results

* `intRepr_injective`: a numeral tells its number.
* `Counter.tag_mem_counters_iff`, `Pod.restartsTag_mem_restartTags_iff`: when there is a tag.
* `counts_tell_sums`: the counters of analysis runs and pods.
* `not_forall_counts_exact`: there is an analysis run whose counters are not told.
-/

namespace RolloutTree

/-! ### Numerals -/

theorem natRepr_injective : Function.Injective Nat.repr := by
  intro m n h
  have hdigits : Nat.toDigits 10 m = Nat.toDigits 10 n := by
    rw [← Nat.toList_repr, h, Nat.toList_repr]
  rw [← @Nat.ofDigitChars_ten_toDigits m, hdigits, Nat.ofDigitChars_ten_toDigits]

/-- A numeral tells its number. -/
theorem intRepr_injective : Function.Injective Int.repr := by
  -- a minus sign is no digit
  have hsign (m n : Nat) : m.repr ≠ "-" ++ n.repr := by
    intro h
    have hmem : '-' ∈ Nat.toDigits 10 m := by
      rw [← Nat.toList_repr, h]
      simp
    exact absurd (Nat.isDigit_of_mem_toDigits (by decide) (by decide) hmem) (by decide)
  intro m n h
  cases m with
  | ofNat m =>
    cases n with
    | ofNat n => exact congrArg Int.ofNat (natRepr_injective h)
    | negSucc n => exact absurd h (hsign m _)
  | negSucc m =>
    cases n with
    | ofNat n => exact absurd h.symm (hsign n _)
    | negSucc n =>
      have hsucc := natRepr_injective ((String.append_right_inj _).mp h)
      exact congrArg Int.negSucc (Nat.succ.inj hsucc)

theorem toInt_pos_iff {word : Int32} : 0 < word.toInt ↔ 0 < word :=
  (@Int32.lt_iff_toInt_lt 0 word).symm

/-! ### The tags -/

namespace Counter

/-- The icon in the tag of the counter. -/
def icon : Counter → StatusIcon
  | successful => .ok
  | failed => .bad
  | inconclusive => .unknown
  | error => .warning

/-- The tag that shows the number for the counter. -/
def tag (c : Counter) (n : Int) : String := c.icon.glyph ++ " " ++ toString n

theorem icon_injective : Function.Injective icon := by
  intro c d h
  cases c <;> cases d <;> first | rfl | exact nomatch h

/-- A tag tells its counter and its number. -/
theorem tag_eq_iff {c d : Counter} {m n : Int} : c.tag m = d.tag n ↔ c = d ∧ m = n := by
  refine ⟨fun h => ?_, fun ⟨hc, hn⟩ => hc ▸ hn ▸ rfl⟩
  have htext : c.icon.glyph.toList ++ ' ' :: (toString m).toList =
      d.icon.glyph.toList ++ ' ' :: (toString n).toList := by
    simpa [tag] using congrArg String.toList h
  obtain ⟨hglyph, hnumber⟩ := List.append_inj htext
    ((StatusIcon.length_glyph _).trans (StatusIcon.length_glyph _).symm)
  have hicon := StatusIcon.glyph_injective (String.toList_inj.mp hglyph)
  exact ⟨icon_injective hicon,
    intRepr_injective (String.toList_inj.mp (List.cons.inj hnumber).2)⟩

/-- The tags for counters are those of the counters that are positive. -/
theorem tag_mem_counters_iff {c : Counter} {t : Totals} {n : Int} :
    c.tag n ∈ AnalysisRun.counters t ↔ n = (c.ofTotals t).toInt ∧ 0 < n := by
  have hcounters : AnalysisRun.counters t =
      [successful, failed, inconclusive, error].filterMap fun d =>
        if 0 < d.ofTotals t then some (d.tag (d.ofTotals t).toInt) else none := rfl
  rw [hcounters, List.mem_filterMap]
  constructor
  · rintro ⟨d, -, hd⟩
    split at hd
    · rename_i hpos
      obtain ⟨rfl, rfl⟩ := tag_eq_iff.mp (Option.some.inj hd)
      exact ⟨rfl, toInt_pos_iff.mpr hpos⟩
    · exact nomatch hd
  · rintro ⟨rfl, hpos⟩
    refine ⟨c, by cases c <;> simp, ?_⟩
    exact if_pos (toInt_pos_iff.mp hpos)

end Counter

namespace Pod

/-- The tag that shows the number of restarts. -/
def restartsTag (n : Int) : String := "restarts:" ++ toString n

/-- There is a tag for restarts that are positive. -/
theorem restartsTag_mem_restartTags_iff {restarts : Int32} {n : Int} :
    restartsTag n ∈ restartTags restarts ↔ n = restarts.toInt ∧ 0 < n := by
  rw [restartTags]
  split
  · rename_i hpos
    rw [List.mem_singleton]
    constructor
    · intro h
      obtain rfl := intRepr_injective ((String.append_right_inj _).mp h)
      exact ⟨rfl, toInt_pos_iff.mpr hpos⟩
    · rintro ⟨rfl, -⟩
      rfl
  · rename_i hpos
    refine iff_of_false List.not_mem_nil ?_
    rintro ⟨rfl, hn⟩
    exact hpos (toInt_pos_iff.mp hn)

/-- The tag for the ready containers is none for restarts. -/
theorem restartsTag_mem_info_iff {p : Pod} {restarts : Int32} (h : p.restarts = .ok restarts)
    {n : Int} : restartsTag n ∈ p.info ↔ n = restarts.toInt ∧ 0 < n := by
  have hready : restartsTag n ≠
      "ready:" ++ toString p.ready ++ "/" ++ toString p.containers.length := by
    intro h
    have htake := congrArg (fun text => text.toList.take 3) h
    simp [restartsTag] at htake
  rw [info, h, List.singleton_append, List.mem_cons, or_iff_right hready]
  exact restartsTag_mem_restartTags_iff

end Pod

/-! ### Counts and sums -/

/-- What the tags of a node tell about the sum of words for which it has a tag: the tag is there
exactly if the sum is positive, it shows the sum, and there is no other. -/
def TagsTell (info : List String) (tag : Int → String) (words : List Int32) : Prop :=
  ∀ n, tag n ∈ info ↔ n = Word.exactSum words ∧ 0 < n

namespace AnalysisRun

variable {run : AnalysisRun} {now : Instant} {s : Snapshot} {node : Node}

theorem toInt_ofTotals {t : Totals} (h : run.totals = .ok t) (c : Counter) :
    (c.ofTotals t).toInt = Word.exactSum (run.status.metrics.map c.ofMetric) :=
  (Word.sum_eq_ok_iff.mp (totals_eq_ok_iff.mp h c)).2

theorem tagsTell (h : run.build now s = .ok node) (c : Counter) :
    TagsTell node.info c.tag (run.status.metrics.map c.ofMetric) := by
  obtain ⟨haddsUp, rfl⟩ := build_eq_ok_iff.mp h
  obtain ⟨t, ht⟩ := exists_totals_eq_ok_iff.mpr haddsUp
  have hinfo : (run.node now s).info = counters t := by rw [node, info, ht]
  intro n
  rw [hinfo, ← toInt_ofTotals ht c]
  exact Counter.tag_mem_counters_iff

/-- The counters of a run cannot be added up if one of them cannot. -/
theorem totals_eq_overflow_iff : run.totals = .error .overflow ↔
    ∃ (c : Counter) (before : List Int32),
      before <+: run.status.metrics.map c.ofMetric ∧ ¬Word.Fits (Word.exactSum before) := by
  rw [Crash.eq_overflow_iff, exists_totals_eq_ok_iff, AddsUp, not_forall]
  exact exists_congr fun c => Word.not_addsUp_iff

theorem build_eq_overflow_iff :
    run.build now s = .error .overflow ↔ run.totals = .error .overflow := by
  rw [Crash.eq_overflow_iff, Crash.eq_overflow_iff, exists_totals_eq_ok_iff]
  simp only [build_eq_ok_iff, exists_and_left, exists_eq', and_true]

end AnalysisRun

namespace Pod

variable {p : Pod} {now : Instant} {node : Node}

theorem toInt_restarts {count : Int32} (h : p.restarts = .ok count) :
    count.toInt = Word.exactSum (p.containers.map Container.restarts) :=
  (Word.sum_eq_ok_iff.mp h).2

theorem tagsTell (h : p.build now = .ok node) :
    TagsTell node.info restartsTag (p.containers.map Container.restarts) := by
  obtain ⟨haddsUp, rfl⟩ := build_eq_ok_iff.mp h
  obtain ⟨count, hcount⟩ := Word.exists_sum_eq_ok_iff.mpr haddsUp
  intro n
  rw [← toInt_restarts hcount]
  exact restartsTag_mem_info_iff hcount

theorem restarts_eq_overflow_iff : p.restarts = .error .overflow ↔ ∃ before : List Int32,
    before <+: p.containers.map Container.restarts ∧ ¬Word.Fits (Word.exactSum before) := by
  rw [Crash.eq_overflow_iff, restarts, Word.exists_sum_eq_ok_iff]
  exact Word.not_addsUp_iff

theorem build_eq_overflow_iff :
    p.build now = .error .overflow ↔ p.restarts = .error .overflow := by
  rw [Crash.eq_overflow_iff, Crash.eq_overflow_iff, restarts, Word.exists_sum_eq_ok_iff]
  simp only [build_eq_ok_iff, exists_and_left, exists_eq', and_true, AddsUp]

end Pod

/-- **Counts that are told are the sums.** For each counter of every analysis run, and for the
restarts of every pod:

* If there is a count, it is the sum of the numbers of all metrics, or of all containers.
* If the node is built, it has a tag for the count exactly if the sum is positive, and the tag shows
  the sum.
* Building the node breaks off exactly if there is no count, and that is so exactly if the first
  numbers, up to some place, have a sum that is no word. -/
theorem counts_tell_sums (run : AnalysisRun) (p : Pod) (now : Instant) (s : Snapshot) :
    ((∀ t, run.totals = .ok t → ∀ c : Counter,
        (c.ofTotals t).toInt = Word.exactSum (run.status.metrics.map c.ofMetric)) ∧
      (∀ node, run.build now s = .ok node →
        ∀ c : Counter, TagsTell node.info c.tag (run.status.metrics.map c.ofMetric)) ∧
      (run.build now s = .error .overflow ↔ run.totals = .error .overflow) ∧
      (run.totals = .error .overflow ↔ ∃ (c : Counter) (before : List Int32),
        before <+: run.status.metrics.map c.ofMetric ∧ ¬Word.Fits (Word.exactSum before))) ∧
    ((∀ count, p.restarts = .ok count →
        count.toInt = Word.exactSum (p.containers.map Container.restarts)) ∧
      (∀ node, p.build now = .ok node →
        TagsTell node.info Pod.restartsTag (p.containers.map Container.restarts)) ∧
      (p.build now = .error .overflow ↔ p.restarts = .error .overflow) ∧
      (p.restarts = .error .overflow ↔ ∃ before : List Int32,
        before <+: p.containers.map Container.restarts ∧ ¬Word.Fits (Word.exactSum before))) :=
  ⟨⟨fun _ => AnalysisRun.toInt_ofTotals, fun _ => AnalysisRun.tagsTell,
      AnalysisRun.build_eq_overflow_iff, AnalysisRun.totals_eq_overflow_iff⟩,
    fun _ => Pod.toInt_restarts, fun _ => Pod.tagsTell, Pod.build_eq_overflow_iff,
    Pod.restarts_eq_overflow_iff⟩

/-- Counts are not always told: with two metrics, or with two containers, that have the greatest
word and one between them there is no count and no node. -/
theorem not_forall_counts_exact :
    (¬∀ (v : Json) (run : AnalysisRun) (now : Instant) (s : Snapshot),
      AnalysisRun.decode v = some run →
        (∃ t, run.totals = .ok t ∧ ∀ c : Counter,
          (c.ofTotals t).toInt = Word.exactSum (run.status.metrics.map c.ofMetric)) ∧
        ∃ node, run.build now s = .ok node ∧
          ∀ c : Counter, TagsTell node.info c.tag (run.status.metrics.map c.ofMetric)) ∧
    ¬∀ (v : Json) (p : Pod) (now : Instant), Pod.decode v = some p →
      ∃ node, p.build now = .ok node ∧
        TagsTell node.info Pod.restartsTag (p.containers.map Container.restarts) := by
  constructor
  · intro h
    obtain ⟨⟨t, ht, -⟩, -⟩ := h
      (.object [("status", .object [("metricResults", .array
        [.object [("successful", .ofInt 2147483647)], .object [("successful", .ofInt 1)]])])])
      { status.metrics := [{ successful := 2147483647 }, { successful := 1 }] }
      ⟨0, 0, 0⟩ {} rfl
    exact nomatch ht
  · intro h
    obtain ⟨node, hnode, -⟩ := h
      (.object [("status", .object [("containerStatuses", .array
        [.object [("restartCount", .ofInt 2147483647)], .object [("restartCount", .ofInt 1)]])])])
      { containers := [{ restarts := 2147483647 }, { restarts := 1 }] } ⟨0, 0, 0⟩ rfl
    exact nomatch hnode

end RolloutTree
