import RolloutTree.Tree.Pod

/-!
# Which container the word of a pod is about

Several containers of a pod may have a reason for not running, but the pod has one word. The word is
the reason of the last of them. Another way to find a word is to walk the containers from the last
to the first and to put the reason of each in the place of the one before. Then the first of them
decides, so that the two words are the same exactly if the first and the last reason are.

## Main definitions

* `Pod.reasons`: the reasons of the containers that have one.
* `Pod.overwritten?`: the reason that is left when each takes the place of the one before.
* `ContainerState.Tells`: a container that waits or has ended, with the reason that it gives.

## Main results

* `Pod.word_eq_of_reasons`: the word is the last reason.
* `Pod.overwritten?_eq`: what is left is the first reason.
* `Pod.shows_overwritten_iff`: when the word is what is left.
* `Pod.not_forall_shows_overwritten`: there is a pod for which it is not.
-/

namespace RolloutTree

/-- The container waits or has ended, and gives the reason. -/
inductive ContainerState.Tells : ContainerState → String → Prop
  | waiting (reason : String) : Tells (.waiting (some reason)) reason
  | terminated {t : Termination} {reason : String} (h : t.reason = some reason) :
      Tells (.terminated t) reason

namespace Pod

variable {p : Pod}

/-- The reasons of the containers that have one, in the order of the containers. -/
def reasons (p : Pod) : List String := p.containers.filterMap Container.reason?

/-- The reason that is left when the containers are walked from the last to the first, and the
reason of each takes the place of the one before. So does `kubectl get pods`. -/
def overwritten? (p : Pod) : Option String :=
  p.containers.reverse.foldl (fun left c => c.reason?.or left) none

theorem containerReason?_eq (p : Pod) : p.containerReason? = p.reasons.getLast? := by
  rw [containerReason?, reasons, List.getLast?_filterMap]

/-- What is left is the first reason. -/
theorem overwritten?_eq (p : Pod) : p.overwritten? = p.reasons.head? := by
  rw [overwritten?, reasons, List.foldl_reverse, List.head?_filterMap]
  induction p.containers with
  | nil => rfl
  | cons c cs ih =>
    rw [List.foldr_cons, ih, List.findSome?_cons]
    cases c.reason? <;> rfl

/-- The word of a pod that is not deleted, and that no init container holds up, is the last reason
of its containers. -/
theorem word_eq_of_reasons (hdeleted : p.metadata.deleted = none) (hinit : p.initReason? = none)
    {reason : String} (hlast : p.reasons.getLast? = some reason) : p.word = reason := by
  simp [word, hdeleted, hinit, containerReason?_eq, hlast]

/-- **A pod shows the last reason of its containers.** Take a pod that is not deleted and that no
init container holds up, with a container that has a reason for not running. Its word is the last
of the reasons. It is the word that is left when the reasons take each other's places exactly if the
first and the last reason are the same, as with a single reason. -/
theorem shows_overwritten_iff (now : Instant) {p : Pod} (hdeleted : p.metadata.deleted = none)
    (hinit : p.initReason? = none) (hreasons : p.reasons ≠ []) :
    (p.node now).status.map (·.text) = p.reasons.getLast? ∧
      ((p.node now).status.map (·.text) = p.overwritten? ↔
        p.reasons.head? = p.reasons.getLast?) := by
  obtain ⟨reason, hlast⟩ := Option.ne_none_iff_exists'.mp (mt List.getLast?_eq_none_iff.mp hreasons)
  have htext : (p.node now).status.map (·.text) = some reason := by
    rw [← word_eq_of_reasons hdeleted hinit hlast]
    rfl
  rw [htext, hlast, overwritten?_eq]
  exact ⟨rfl, eq_comm⟩

/-- Of three reasons the last is shown, and the first would be left. -/
theorem shows_last_of_three_reasons :
    let p : Pod :=
      { containers :=
          [{ state := .waiting (some "CrashLoopBackOff") },
            { state := .terminated { reason := some "Completed" } }, {},
            { state := .terminated { signal := some 9 } }] }
    (p.node ⟨0, 0, 0⟩).status.map (·.text) = some "Signal:9" ∧
      p.overwritten? = some "CrashLoopBackOff" := by
  refine ⟨(shows_overwritten_iff ⟨0, 0, 0⟩ rfl rfl (by decide)).1.trans (by decide), by decide⟩

/-- What is left when the reasons take each other's places is not always shown. -/
theorem not_forall_shows_overwritten :
    ¬∀ (now : Instant) (p : Pod) (left : String),
      p.metadata.deleted = none → p.initContainers = [] →
      (∀ c ∈ p.containers, c.state = .other ∨ ∃ reason ≠ "", c.state.Tells reason) →
      p.overwritten? = some left → left ≠ "Completed" →
        (p.node now).status.map (·.text) = some left := by
  intro h
  have hshown := h ⟨0, 0, 0⟩
    { containers :=
        [{ state := .waiting (some "CrashLoopBackOff") },
          { state := .waiting (some "ImagePullBackOff") }] }
    "CrashLoopBackOff" rfl rfl
    (by simpa using ⟨⟨_, by decide, .waiting _⟩, ⟨_, by decide, .waiting _⟩⟩)
    (by decide) (by decide)
  exact absurd hshown (by decide)

end Pod

end RolloutTree
