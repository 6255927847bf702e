import RolloutTree.Proofs.Completion.Candidates

/-!
# Completed arguments

What has been completed is read again when the command runs. Completing cuts a text at its first
slash, but an argument stands for the name behind its last slash. The two agree on candidates, since
a name that is listed has no slash: behind the type and its slash there is nothing but the name. A
completed argument also stays a candidate for itself.

A type that is offered with a slash is no completed argument, because a name has to follow.

## Main results

* `nameOf_eq_self`, `nameOf_qualified`: the name that an argument stands for.
* `candidates_name_listed`: every candidate but an offered type stands for a listed name.
-/

namespace RolloutTree.Completion

/-! ### The name in an argument -/

/-- From the end of a text, everything up to a slash is read. -/
theorem takeWhile_reverse_append {cs : List Char} (h : '/' ∉ cs) (front : List Char) :
    (cs.reverse ++ front).takeWhile (· ≠ '/') = cs.reverse ++ front.takeWhile (· ≠ '/') := by
  refine List.takeWhile_append_of_pos fun c hc => decide_eq_true ?_
  rintro rfl
  exact h (List.mem_reverse.mp hc)

/-- A name without a slash stands for itself. -/
theorem nameOf_eq_self {name : String} (h : '/' ∉ name.toList) : nameOf name = name := by
  have hread := takeWhile_reverse_append h []
  rw [List.append_nil] at hread
  rw [nameOf, hread]
  simp

/-- Behind a type and a slash, a name without a slash is the one that the argument stands for. -/
theorem nameOf_qualified (type : String) {name : String} (h : '/' ∉ name.toList) :
    nameOf (type ++ "/" ++ name) = name := by
  have htext : (type ++ "/" ++ name).toList.reverse =
      name.toList.reverse ++ '/' :: type.toList.reverse := by simp
  rw [nameOf, htext, takeWhile_reverse_append h]
  simp

/-! ### What a candidate stands for -/

theorem ne_empty_of_gives {answer : Option String} {found : List String} (h : Gives answer found) :
    ∀ name ∈ found, name ≠ "" := by
  cases h with
  | listed h => exact fun name hname => of_decide_eq_true (List.mem_filter.mp hname).2
  | failed => exact fun name hname => absurd hname List.not_mem_nil

theorem startsWith_self (text : String) : startsWith text text = true := by
  simp [startsWith_eq_decide]

variable (lister : NameQuery → Option String) (place : Option String) (kind : String)

/-- A name of the kind is a candidate for itself. -/
theorem mem_candidates_self {name : String} (h : '/' ∉ name.toList)
    (hname : name ∈ names ((lister { kind, place }).getD "")) :
    name ∈ (complete lister place kind name).candidates := by
  rw [complete_start lister place kind h]
  exact List.mem_append_left _ (List.mem_filter.mpr ⟨hname, startsWith_self name⟩)

/-- A name of a type is a candidate for itself behind the type. -/
theorem mem_candidates_qualified {type : String} (htype : '/' ∉ type.toList) {name : String}
    (hname : name ∈ names ((lister { kind := type, place }).getD "")) :
    type ++ "/" ++ name ∈ (complete lister place kind (type ++ "/" ++ name)).candidates := by
  rw [complete_qualified lister place kind htype]
  exact List.mem_map_of_mem (List.mem_filter.mpr ⟨hname, startsWith_self name⟩)

/-- **A completed argument names what was completed.** Take a lister that gives no name with a
slash.

* Without a slash in the text, every candidate but an offered type stands for a name of the kind
  that the lister gives and that begins with the text.
* With a slash, the type is what stands in front of the first one, and every candidate stands for a
  name of that type that the lister gives and that begins with what stands behind the slash.

The name is not empty, and the candidate is one of its own candidates. -/
theorem candidates_name_listed
    (hplain : ∀ q found, Gives (lister q) found → ∀ name ∈ found, '/' ∉ name.toList)
    (text : String) :
    ('/' ∉ text.toList → ∃ found, Gives (lister { kind, place }) found ∧
      ∀ candidate ∈ (complete lister place kind text).candidates,
        candidate ∉ (offers kind).map (· ++ "/") →
          nameOf candidate ∈ found ∧ nameOf candidate ≠ "" ∧
            text.toList <+: (nameOf candidate).toList ∧
            candidate ∈ (complete lister place kind candidate).candidates) ∧
    ∀ type start, text = type ++ "/" ++ start → '/' ∉ type.toList →
      ∃ found, Gives (lister { kind := type, place }) found ∧
        ∀ candidate ∈ (complete lister place kind text).candidates,
          nameOf candidate ∈ found ∧ nameOf candidate ≠ "" ∧
            start.toList <+: (nameOf candidate).toList ∧
            candidate ∈ (complete lister place kind candidate).candidates := by
  have hstarts {text start : String} (h : startsWith text start = true) :
      start.toList <+: text.toList := by
    rwa [startsWith_eq_decide, decide_eq_true_iff] at h
  constructor
  · intro htext
    have hgives := gives_iff.mpr (Eq.refl (names ((lister { kind, place }).getD "")))
    refine ⟨_, hgives, fun candidate hcandidate hoffer => ?_⟩
    rw [complete_start lister place kind htext, List.mem_append] at hcandidate
    rcases hcandidate with hmem | hmem
    · obtain ⟨hname, hstart⟩ := List.mem_filter.mp hmem
      have hslash := hplain _ _ hgives _ hname
      rw [nameOf_eq_self hslash]
      exact ⟨hname, ne_empty_of_gives hgives _ hname, hstarts hstart,
        mem_candidates_self lister place kind hslash hname⟩
    · refine absurd ?_ hoffer
      obtain ⟨type, htype, rfl⟩ := List.mem_map.mp hmem
      exact List.mem_map_of_mem (List.mem_filter.mp htype).1
  · rintro type start rfl htype
    have hgives := gives_iff.mpr (Eq.refl (names ((lister { kind := type, place }).getD "")))
    refine ⟨_, hgives, fun candidate hcandidate => ?_⟩
    rw [complete_qualified lister place kind htype, List.mem_map] at hcandidate
    obtain ⟨name, hmem, rfl⟩ := hcandidate
    obtain ⟨hname, hstart⟩ := List.mem_filter.mp hmem
    rw [nameOf_qualified type (hplain _ _ hgives _ hname)]
    exact ⟨hname, ne_empty_of_gives hgives _ hname, hstarts hstart,
      mem_candidates_qualified lister place kind htype hname⟩

/-- The second candidate behind `rollouts/sh` stands for a listed name, and stays a candidate. -/
theorem candidates_name_listed_rollouts :
    let lister : NameQuery → Option String :=
      fun q => if q.kind = "rollouts" then some "shop web shop-2 " else none
    nameOf "rollouts/shop-2" ∈ ["shop", "web", "shop-2"] ∧
      "rollouts/shop-2" ∈ (complete lister none "rollout" "rollouts/shop-2").candidates := by
  intro lister
  have hplain : ∀ q found, Gives (lister q) found → ∀ name ∈ found, '/' ∉ name.toList := by
    intro q found h
    rw [gives_iff] at h
    subst h
    by_cases hq : q.kind = "rollouts"
    · simp only [lister, hq, if_true]
      decide
    · simp [lister, hq, names, Text.pieces]
  obtain ⟨found, hgives, hcandidates⟩ := (candidates_name_listed lister none "rollout" hplain
    "rollouts/sh").2 "rollouts" "sh" (by decide) (by decide)
  obtain ⟨hname, -, -, hagain⟩ := hcandidates "rollouts/shop-2" (by decide)
  have hfound : found = ["shop", "web", "shop-2"] := (gives_iff.mp hgives).symm.trans (by decide)
  exact ⟨hfound ▸ hname, hagain⟩

end RolloutTree.Completion
